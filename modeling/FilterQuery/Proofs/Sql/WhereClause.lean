import FilterQuery.Proofs.Sql.Combination
import FilterQuery.Proofs.Sql.Resolution

/-!
# Where clauses are read as they are meant

`enclose` leaves exactly one pair of parentheses around the combined conditions of
a query, and what it returns is read as the combination.

* A single condition may have brought its own parentheses, which are taken off and
  put on again; then the whole text is the condition;
* a combination never stands in parentheses before, since more follows after its
  first operand or it starts with the name of a function.
-/

namespace FilterQuery.Sql

variable {entries : List (Nat × String)}

/-- A text that is cut into symbols is read as the clause that they are put
together to. -/
theorem reads_of_cuts
    {conditions : List String} {text : String} {symbols : List Symbol}
    {clause : Clause} (cuts : Cuts conditions text.toList symbols)
    (derives : Derives 0 symbols clause) : Reads conditions text clause := by
  have ends : EndsNames [] := nofun
  have whole := cuts ends symbolsFrom?_nil
  rw [List.append_nil, List.append_nil] at whole
  exact ⟨symbols, whole, derives⟩

/-! ## Single conditions -/

variable {entry : Nat × String}

/-- Where a condition starts in another way, a parenthesis before it is no part
of it. -/
theorem reads_enclosed_condition
    (family : IsFamily [entry])
    (notOpening : ∀ rest, entry.2.toList ≠ '(' :: rest) :
    Reads [entry.2] ("(" ++ entry.2 ++ ")") (.condition entry.2) := by
  have member : entry ∈ [entry] := List.mem_singleton.mpr rfl
  have cuts : Cuts [entry.2] entry.2.toList [.condition entry.2] :=
    cuts_condition family member
  have derives : Derives 0 [.condition entry.2] (.condition entry.2) :=
    (Derives.condition entry.2).weaken (Nat.zero_le 3)
  have none :
      ∀ other ∈ [entry.2], ¬other.toList <+: '(' :: (entry.2.toList ++ [')']) := by
    rintro other isOther ⟨after, whole⟩
    rw [List.mem_singleton.mp isOther] at whole
    obtain ⟨first, rest, isFirst, _⟩ := (family.isPiece member).solid.first
    apply notOpening rest
    rw [isFirst] at whole ⊢
    rw [(List.cons.inj whole).1]
  have closes : symbolsFrom? [entry.2] .operator [')'] = some [.closing] := by
    rw [symbolsFrom?_closing, symbolsFrom?_nil]
    rfl
  have inside := cuts (endsNames_closing []) closes
  refine
    ⟨.opening :: ([.condition entry.2] ++ [.closing]), ?_,
      derives.parentheses.weaken (Nat.zero_le 3)⟩
  rw [toList_enclosed, symbolsFrom?_of_fixedSymbol? none rfl, inside]
  rfl

/-- A single condition in one pair of parentheses is read as itself. -/
theorem exists_enclose_condition (family : IsFamily [entry]) :
    ∃ text,
      enclose entry.2 = some text ∧
        Reads [entry.2] text (.condition entry.2) := by
  have member : entry ∈ [entry] := List.mem_singleton.mpr rfl
  obtain ⟨condition, isCondition, isText⟩ := family.conditions entry member
  rcases isCondition.single_or_enclosed with
    ⟨test, rfl, isTest⟩ | ⟨inner, isEnclosed⟩
  · -- The parentheses are put on.
    have notOpening : ∀ rest, entry.2.toList ≠ '(' :: rest := by
      rw [isText]
      exact isTest.text_ne_openParen
    have bare := enclosed?_of_ne_opening notOpening
    exact
      ⟨_, enclose_of_bare (family.isPiece member).solid bare,
        reads_enclosed_condition family notOpening⟩
  · -- The parentheses belong to the condition.
    rw [← isText] at isEnclosed
    have cuts : Cuts [entry.2] entry.2.toList [.condition entry.2] :=
      cuts_condition family member
    have derives : Derives 0 [.condition entry.2] (.condition entry.2) :=
      (Derives.condition entry.2).weaken (Nat.zero_le 3)
    exact
      ⟨entry.2,
        enclose_of_enclosed isEnclosed.whole isEnclosed.solid
          isEnclosed.balanced isEnclosed.bare,
        reads_of_cuts cuts derives⟩

/-! ## Combinations -/

/-- A combination that is not in parentheses is read as the clause that its
symbols are put together to. -/
theorem exists_enclose_combination
    (family : IsFamily entries) {combination : String} {symbols : List Symbol}
    {clause : Clause}
    (piece :
      IsPiece (IsNameWithin entries combination.toList.length)
        combination.toList)
    (bare : enclosed? combination.toList = none)
    (blanks : 4 ≤ combination.toList.count ' ')
    (cuts : Cuts (textsOf entries) combination.toList symbols)
    (derives : Derives 0 symbols clause) :
    ∃ text,
      enclose combination = some text ∧
        Reads (textsOf entries) text clause := by
  refine ⟨_, enclose_of_bare piece.solid bare, ?_⟩
  have wholeCuts :
      Cuts (textsOf entries) ("(" ++ combination ++ ")").toList
        (.opening :: (symbols ++ [.closing])) := by
    rw [toList_enclosed]
    exact cuts_enclosed family piece blanks cuts
  exact
    reads_of_cuts wholeCuts (derives.parentheses.weaken (Nat.zero_le 3))

namespace Clause

/-- The clause is made by an operator of the expression. -/
def IsCombined : Clause → Prop
  | .condition _ => False
  | .negation _ => False
  | .operation .. => True
  | .xorCall .. => True

theorem isCombined_combine
    (dialect : Dialect) (operator : LogicalOperator) (left right : Clause) :
    (combine dialect operator left right).IsCombined := by
  cases dialect <;> cases operator <;> trivial

/-- A combination of conditions of the family. -/
theorem exists_enclose_text
    (family : IsFamily entries) {clause : Clause}
    (isOver : clause.IsOver entries) (combined : clause.IsCombined) :
    ∃ text,
      enclose clause.text = some text ∧
        Reads (textsOf entries) text clause := by
  have piece := isPiece_text family isOver (Nat.le_refl _)
  have cuts := cuts_text family isOver
  have derives := (derives_symbols clause).1
  cases clause with
  | condition text => exact combined.elim
  | negation inner => exact combined.elim
  | operation operator left right =>
      obtain ⟨leftIsOver, rightIsOver⟩ := isOver_operands isOver
      have leftPiece :=
        isPiece_operand (isPiece_text family leftIsOver (Nat.le_refl _))
      have bare :
          enclosed? (operation operator left right).text.toList = none := by
        rw [toList_text_operation]
        apply enclosed?_eq_none leftPiece.solid.ne_nil leftPiece.balanced
        cases operator <;> exact List.cons_ne_nil _ _
      exact
        exists_enclose_combination family piece bare
          (operation_blanks_le family leftIsOver rightIsOver) cuts derives
  | xorCall left right =>
      obtain ⟨leftIsOver, rightIsOver⟩ := isOver_operands isOver
      have bare : enclosed? (xorCall left right).text.toList = none := by
        rw [toList_text_xorCall]
        exact enclosed?_eq_none_of_first (by decide)
      exact
        exists_enclose_combination family piece bare
          (xorCall_blanks_le family leftIsOver rightIsOver) cuts derives

/-- Every way to write an operation has the conditions of both operands. -/
theorem mem_conditions_combine
    {dialect : Dialect} {operator : LogicalOperator} {left right : Clause}
    {text : String} :
    text ∈ (combine dialect operator left right).conditions ↔
      text ∈ left.conditions ∨ text ∈ right.conditions := by
  unfold combine
  split
  · exact List.mem_append
  · simp only [conditions, List.mem_append]
    tauto
  · exact List.mem_append

/-- The clause of an expression is made of the conditions of its leaves. -/
theorem mem_conditions_ofTree
    {dialect : Dialect} {condition? : Nat → Option String}
    {tree : Expression.Tree} {clause : Clause}
    (built : ofTree dialect condition? tree = .ok clause) {text : String} :
    text ∈ clause.conditions ↔
      ∃ index ∈ tree.leaves, condition? index = some text := by
  induction tree generalizing clause with
  | leaf index =>
      simp only [ofTree] at built
      split at built
      · cases built
      · rename_i condition found
        cases built
        simp only [conditions, Expression.Tree.leaves, List.mem_singleton,
          exists_eq_left, found, Option.some.injEq]
        exact eq_comm
  | node operator left right leftHypothesis rightHypothesis =>
      simp only [ofTree, bind, Except.bind] at built
      split at built
      · cases built
      · rename_i leftClause leftBuilt
        split at built
        · cases built
        · rename_i rightClause rightBuilt
          cases built
          rw [mem_conditions_combine, leftHypothesis leftBuilt,
            rightHypothesis rightBuilt]
          simp only [Expression.Tree.leaves, List.mem_append, or_and_right,
            exists_or]

theorem isOver_of_ofTree
    {dialect : Dialect} {tree : Expression.Tree} {clause : Clause}
    (built : ofTree dialect (Slots.lookup · entries) tree = .ok clause) :
    clause.IsOver entries := by
  intro text member
  obtain ⟨index, _, found⟩ := (mem_conditions_ofTree built).mp member
  exact List.mem_map_of_mem (Slots.mem_of_lookup found)

end Clause

/-! ## Conditions that must all hold -/

/-- All conditions of the family, with the conjunction between them, are a piece. -/
theorem isPiece_all (family : IsFamily entries) (nonempty : entries ≠ []) :
    IsPiece
      (IsNameWithin entries (" AND ".intercalate (textsOf entries)).toList.length)
      (" AND ".intercalate (textsOf entries)).toList := by
  have someTexts : textsOf entries ≠ [] := by
    rw [textsOf, ne_eq, List.map_eq_nil_iff]
    exact nonempty
  refine isPiece_intercalate (by decide) someTexts ?_
  intro part member
  have isPart : part.toList <:+: (" AND ".intercalate (textsOf entries)).toList :=
    isInfix_intercalate member
  obtain ⟨entry, isEntry, rfl⟩ := List.mem_map.mp member
  exact family.isPiece_within isEntry isPart.length_le

/-- Several conditions with the conjunction between them. -/
theorem exists_enclose_conjunction
    {first second : Nat × String} {rest : List (Nat × String)}
    (family : IsFamily (first :: second :: rest)) :
    ∃ text,
      enclose (" AND ".intercalate (textsOf (first :: second :: rest))) =
          some text ∧
        Reads (textsOf (first :: second :: rest)) text
          (conjunction (.condition first.2) (textsOf (second :: rest))) := by
  have nonempty : textsOf (first :: second :: rest) ≠ [] := List.cons_ne_nil _ _
  have othersNonempty : textsOf (second :: rest) ≠ [] := List.cons_ne_nil _ _
  have firstPiece := family.isPiece List.mem_cons_self
  have texts :
      textsOf (first :: second :: rest) = first.2 :: textsOf (second :: rest) :=
    rfl
  have shape :
      (" AND ".intercalate (textsOf (first :: second :: rest))).toList =
        first.2.toList ++
          (" AND ".toList ++
            (" AND ".intercalate (textsOf (second :: rest))).toList) := by
    rw [texts, String.intercalate_cons_of_ne_nil othersNonempty,
      String.toList_append, String.toList_append, List.append_assoc]
  have bare :
      enclosed? (" AND ".intercalate (textsOf (first :: second :: rest))).toList =
        none := by
    rw [shape]
    exact
      enclosed?_eq_none firstPiece.solid.ne_nil firstPiece.balanced
        (List.cons_ne_nil _ _)
  have blanks :
      4 ≤
        (" AND ".intercalate (textsOf (first :: second :: rest))).toList.count
          ' ' := by
    have inFirst := family.blanks_le_count List.mem_cons_self
    have inSeparator : " AND ".toList.count ' ' = 2 := rfl
    rw [shape, List.count_append, List.count_append]
    omega
  have derivesFirst : Derives 2 [.condition first.2] (.condition first.2) :=
    (Derives.condition first.2).weaken (by decide)
  have derives :
      Derives 0 (conjunctionSymbols (textsOf (first :: second :: rest)))
        (conjunction (.condition first.2) (textsOf (second :: rest))) := by
    rw [texts, conjunctionSymbols_cons othersNonempty]
    exact
      (derives_conjunction derivesFirst othersNonempty).weaken (Nat.zero_le 2)
  exact
    exists_enclose_combination family (isPiece_all family (List.cons_ne_nil _ _)) bare
      blanks (cuts_conjunction family nonempty fun _ => id) derives

/-- All conditions of the family. -/
theorem exists_enclose_all
    (family : IsFamily entries) (nonempty : entries ≠ []) :
    ∃ text clause,
      enclose (" AND ".intercalate (textsOf entries)) = some text ∧
        Reads (textsOf entries) text clause ∧
        ∀ conditions,
          clause.value conditions =
            Truth.all ((textsOf entries).map conditions) := by
  cases entries with
  | nil => exact absurd rfl nonempty
  | cons first rest =>
      cases rest with
      | nil =>
          obtain ⟨text, encloses, reads⟩ := exists_enclose_condition family
          refine ⟨text, .condition first.2, ?_, reads, fun conditions => ?_⟩
          · rw [textsOf, List.map_singleton, String.intercalate_singleton]
            exact encloses
          · exact (Truth.and_yes _).symm
      | cons second others =>
          obtain ⟨text, encloses, reads⟩ := exists_enclose_conjunction family
          exact ⟨text, _, encloses, reads, fun _ => value_conjunction⟩

/-! ## The conditions of a query -/

/-- An expression that only names one index has one condition. -/
theorem eq_singleton_of_keys
    {index : Nat} (ascending : (entries.map Prod.fst).Pairwise (· < ·))
    (same : ∀ key, key ∈ entries.map Prod.fst ↔ key = index) :
    ∃ text, entries = [(index, text)] := by
  cases entries with
  | nil => cases (same index).mpr rfl
  | cons entry rest =>
      obtain ⟨key, text⟩ := entry
      rw [List.map_cons, List.pairwise_cons] at ascending
      have isIndex : key = index := (same key).mp List.mem_cons_self
      cases rest with
      | nil => exact ⟨text, by rw [isIndex]⟩
      | cons second others =>
          have above : key < second.1 := ascending.1 _ List.mem_cons_self
          have alsoIndex : second.1 = index :=
            (same second.1).mp (List.mem_cons_of_mem _ List.mem_cons_self)
          omega

/-- The conditions of an expression that names exactly the indexes of the
family. -/
theorem exists_enclose_ofTree
    (family : IsFamily entries) {tree : Expression.Tree}
    (sameIndexes :
      ∀ index, index ∈ tree.leaves ↔ index ∈ entries.map Prod.fst)
    (dialect : Dialect) :
    ∃ text clause,
      Clause.ofTree dialect (Slots.lookup · entries) tree = .ok clause ∧
        enclose clause.text = some text ∧
        Reads (textsOf entries) text clause := by
  obtain ⟨clause, built⟩ :
      ∃ clause,
        Clause.ofTree dialect (Slots.lookup · entries) tree = .ok clause :=
    Clause.exists_ofTree_eq_ok fun index member =>
      Slots.exists_lookup_iff_mem_keys.mpr ((sameIndexes index).mp member)
  cases tree with
  | leaf index =>
      obtain ⟨condition, isSingleton⟩ : ∃ text, entries = [(index, text)] :=
        eq_singleton_of_keys family.ascending fun key =>
          (sameIndexes key).symm.trans List.mem_singleton
      subst isSingleton
      have isCondition : clause = .condition condition := by
        simp only [Clause.ofTree, Slots.lookup, if_true] at built
        cases built
        rfl
      subst isCondition
      obtain ⟨text, encloses, reads⟩ := exists_enclose_condition family
      exact ⟨text, _, built, encloses, reads⟩
  | node operator left right =>
      have isOver : clause.IsOver entries := Clause.isOver_of_ofTree built
      have combined : clause.IsCombined := by
        simp only [Clause.ofTree, bind, Except.bind] at built
        split at built
        · cases built
        · split at built
          · cases built
          · cases built
            exact Clause.isCombined_combine dialect operator _ _
      obtain ⟨text, encloses, reads⟩ :=
        Clause.exists_enclose_text family isOver combined
      exact ⟨text, clause, built, encloses, reads⟩

/-- The conditions of a query are combined to a text that is read as a clause
with the value of the query. -/
theorem Fragment.exists_reads_whereClauseOf
    {query : Query} (family : IsFamily entries) (nonempty : entries ≠ [])
    (sameIndexes : entries.map Prod.fst = query.filters.indexes)
    (parsed : query.Parsed) (dialect : Dialect) :
    ∃ text clause,
      whereClauseOf dialect entries query.expression = .ok (some text) ∧
        Reads (textsOf entries) text clause ∧
        ∀ conditions filters,
          (∀ entry ∈ entries, conditions entry.2 = filters entry.1) →
            clause.value conditions = query.value filters := by
  have notEmpty : entries.isEmpty = false := by
    rw [List.isEmpty_eq_false_iff]
    exact nonempty
  cases isGiven : query.expression with
  | none =>
      obtain ⟨text, clause, encloses, reads, value⟩ :=
        exists_enclose_all family nonempty
      refine ⟨text, clause, ?_, reads, ?_⟩
      · simp only [whereClauseOf, notEmpty, Bool.false_eq_true, if_false,
          combineConditions, Except.map]
        exact congrArg Except.ok encloses
      · intro conditions filters same
        have sameValues :
            (textsOf entries).map conditions =
              query.filters.indexes.map filters := by
          rw [← sameIndexes, textsOf, List.map_map, List.map_map]
          exact List.map_congr_left same
        rw [value, sameValues, Query.value, isGiven]
  | some expression =>
      have agrees :
          ∀ index,
            index ∈ expression.tree.leaves ↔ index ∈ entries.map Prod.fst := by
        rw [sameIndexes]
        exact (parsed.expressionAgrees expression isGiven).2
      obtain ⟨text, clause, built, encloses, reads⟩ :=
        exists_enclose_ofTree family agrees dialect
      refine ⟨text, clause, ?_, reads, ?_⟩
      · simp only [whereClauseOf, notEmpty, Bool.false_eq_true, if_false,
          combineConditions, built, Except.map]
        exact congrArg Except.ok encloses
      · intro conditions filters same
        rw [Query.value, isGiven]
        refine Clause.value_of_ofTree built ?_
        intro index _ condition found
        exact same (index, condition) (Slots.mem_of_lookup found)

end FilterQuery.Sql
