import FilterQuery.Proofs.Sql.Parameters
import Mathlib.Logic.Function.Basic

/-!
# Values stay out of the text

The shape of a query is what is left of it without its values.  Truth values are
kept, and of lists the datatypes of the elements and which of them are equal.

Queries with the same shape have the same where clause, the same order and the
same names of parameters (`Fragment.values_stay_out_of_text`).

* Repeated elements are left out at the same positions, so the outlines of the
  elements that are bound are the same (`outline_boundElements`);
* conditions and names of parameters depend on the shape of a filter only.
-/

namespace FilterQuery

/-! ## Shapes -/

/-- Which of the values are equal, each compared with those after it. -/
def Value.equalities : List Value → List (List Bool)
  | [] => []
  | item :: rest => rest.map (item == ·) :: equalities rest

/-- A kind with its content left out. -/
inductive Kind.Shape where
  | null
  | boolean (value : Bool)
  | integer
  | float
  | string
  | like
  | inList (datatypes : List (Option ElementType)) (equalities : List (List Bool))
  | regexp
  deriving DecidableEq, Repr

def Kind.shape : Kind → Kind.Shape
  | .null => .null
  | .boolean value => .boolean value
  | .integer _ => .integer
  | .float _ => .float
  | .string _ => .string
  | .like _ => .like
  | .inList items => .inList (items.map Value.elementType?) (Value.equalities items)
  | .regexp _ => .regexp

structure Filter.Shape where
  key : String
  operator : Operator
  kind : Kind.Shape
  caseInsensitive : Bool
  deriving DecidableEq, Repr

def Filter.shape (filter : Filter) : Filter.Shape where
  key := filter.key
  operator := filter.operator
  kind := filter.kind.shape
  caseInsensitive := filter.caseInsensitive

/-- What is left of a query without its values. -/
structure Query.Shape where
  filters : List (Nat × Filter.Shape)
  tree : Option Expression.Tree
  sorts : List (Nat × String × SortOrder)
  deriving DecidableEq, Repr

def Query.shape (query : Query) : Query.Shape where
  filters := query.filters.entries.map fun entry => (entry.1, entry.2.shape)
  tree := query.expression.map Expression.tree
  sorts := query.sorts.entries.map fun entry =>
    (entry.1, entry.2.key, entry.2.order)

namespace Sql

/-- What depends on something that two lists agree on is the same for both. -/
theorem map_eq_map_of_factorsThrough
    {α β γ : Type} {rough : α → β} {fine : α → γ}
    (factors : Function.FactorsThrough fine rough) {first second : List α}
    (same : first.map rough = second.map rough) :
    first.map fine = second.map fine := by
  induction first generalizing second with
  | nil =>
      have isEmpty : second = [] := List.map_eq_nil_iff.mp same.symm
      rw [isEmpty]
  | cons item rest inductionHypothesis =>
      cases second with
      | nil => cases same
      | cons other others =>
          obtain ⟨sameItem, sameRest⟩ := List.cons.inj same
          rw [List.map_cons, List.map_cons, factors sameItem,
            inductionHypothesis sameRest]

/-- Lists that are mapped to the same are so in each place. -/
theorem eq_of_mem_zip_of_map_eq
    {α β γ : Type} {left : α → γ} {right : β → γ}
    {first : List α} {second : List β} (same : first.map left = second.map right)
    {pair : α × β} (member : pair ∈ first.zip second) :
    left pair.1 = right pair.2 := by
  induction first generalizing second with
  | nil => cases member
  | cons item rest inductionHypothesis =>
      cases second with
      | nil => cases member
      | cons other others =>
          obtain ⟨sameItem, sameRest⟩ := List.cons.inj same
          rw [List.zip_cons_cons, List.mem_cons] at member
          rcases member with rfl | isLater
          · exact sameItem
          · exact inductionHypothesis sameRest isLater

/-! ## Elements of lists -/

/-- An element without its value: its position and its datatype. -/
def outline (element : Nat × Value) : Nat × Option ElementType :=
  (element.1, element.2.elementType?)

theorem isNull_eq (value : Value) :
    value.isNull = (value.elementType? == some .null) := by
  cases value <;> rfl

/-- What is equal on the left is equal on the right. -/
def AgreeOnEquality (earlier later : Value × Value) : Prop :=
  (earlier.1 == later.1) = (earlier.2 == later.2)

theorem agreeOnEquality_of_equalities
    {first second : List Value}
    (same : Value.equalities first = Value.equalities second) :
    (first.zip second).Pairwise AgreeOnEquality := by
  induction first generalizing second with
  | nil => exact List.Pairwise.nil
  | cons item rest inductionHypothesis =>
      cases second with
      | nil => exact List.Pairwise.nil
      | cons other others =>
          obtain ⟨sameRow, sameRest⟩ := List.cons.inj same
          rw [List.zip_cons_cons, List.pairwise_cons]
          refine ⟨?_, inductionHypothesis sameRest⟩
          intro later isLater
          exact eq_of_mem_zip_of_map_eq sameRow isLater

/-- The same positions are left out of lists that stand side by side. -/
theorem outline_distinctFrom
    {pairs : List (Value × Value)} (position : Nat) (seen : List (Value × Value))
    (datatypes : ∀ pair ∈ pairs, pair.1.elementType? = pair.2.elementType?)
    (equal : pairs.Pairwise AgreeOnEquality)
    (seenEqual :
      ∀ earlier ∈ seen, ∀ later ∈ pairs, AgreeOnEquality earlier later) :
    (distinctFrom position (seen.map Prod.fst) (pairs.map Prod.fst)).map
        outline =
      (distinctFrom position (seen.map Prod.snd) (pairs.map Prod.snd)).map
        outline := by
  induction pairs generalizing seen position with
  | nil => rfl
  | cons pair rest inductionHypothesis =>
      obtain ⟨sameDatatype, restDatatypes⟩ := List.forall_mem_cons.mp datatypes
      obtain ⟨pairEqual, restEqual⟩ := List.pairwise_cons.mp equal
      have restSeenEqual :
          ∀ earlier ∈ seen, ∀ later ∈ rest, AgreeOnEquality earlier later :=
        fun earlier isEarlier later isLater =>
          seenEqual earlier isEarlier later (List.mem_cons_of_mem _ isLater)
      have wasSeen :
          (seen.map Prod.fst).any (· == pair.1) =
            (seen.map Prod.snd).any (· == pair.2) := by
        rw [List.any_map, List.any_map, Bool.eq_iff_iff, List.any_eq_true,
          List.any_eq_true]
        apply exists_congr
        intro earlier
        apply and_congr_right
        intro isEarlier
        have sameAnswer : (earlier.1 == pair.1) = (earlier.2 == pair.2) :=
          seenEqual earlier isEarlier pair List.mem_cons_self
        simp only [Function.comp_apply, sameAnswer]
      simp only [List.map_cons, distinctFrom, wasSeen]
      split
      · exact
          inductionHypothesis (position + 1) seen restDatatypes restEqual
            restSeenEqual
      · have sameRest :=
          inductionHypothesis (position + 1) (pair :: seen) restDatatypes
            restEqual (List.forall_mem_cons.mpr ⟨pairEqual, restSeenEqual⟩)
        rw [List.map_cons, List.map_cons, outline, outline, sameDatatype]
        exact congrArg _ sameRest

theorem outline_boundElements
    {first second : List Value}
    (datatypes :
      first.map Value.elementType? = second.map Value.elementType?)
    (equalities : Value.equalities first = Value.equalities second) :
    (boundElements first).map outline = (boundElements second).map outline := by
  have sameLength : first.length = second.length := by
    simpa using congrArg List.length datatypes
  have asDistinct :
      ∀ items,
        (boundElements items).map outline =
          ((distinctElements items).map outline).filter (·.2 != some .null) := by
    intro items
    rw [List.filter_map]
    simp only [boundElements, isNull_eq]
    rfl
  have atBothSides :
      (distinctFrom 0 [] ((first.zip second).map Prod.fst)).map outline =
        (distinctFrom 0 [] ((first.zip second).map Prod.snd)).map outline := by
    apply outline_distinctFrom 0 []
    · intro pair member
      exact eq_of_mem_zip_of_map_eq datatypes member
    · exact agreeOnEquality_of_equalities equalities
    · intro earlier isSeen
      cases isSeen
  rw [List.map_fst_zip (by omega), List.map_snd_zip (by omega)] at atBothSides
  have sameDistinct :
      (distinctElements first).map outline =
        (distinctElements second).map outline := atBothSides
  rw [asDistinct, asDistinct, sameDistinct]

/-! ## Conditions and names -/

section Filters

variable {dialect : Dialect} {index : Nat} {column : String}

theorem isText_eq (value : Value) :
    isText value = (value.elementType? == some .string) := by
  cases value <;> rfl

theorem elementPlaceholder_factorsThrough
    (dialect : Dialect) (caseInsensitive : Bool) (index : Nat) :
    Function.FactorsThrough
      (elementPlaceholder dialect caseInsensitive index) outline := by
  intro first second same
  obtain ⟨samePosition, sameDatatype⟩ := Prod.mk.inj same
  simp only [elementPlaceholder, isText_eq, samePosition, sameDatatype]

theorem any_isNull_eq
    {first second : List Value}
    (datatypes :
      first.map Value.elementType? = second.map Value.elementType?) :
    first.any Value.isNull = second.any Value.isNull := by
  have asDatatypes :
      ∀ items : List Value,
        items.any Value.isNull =
          (items.map Value.elementType?).any (· == some .null) := by
    intro items
    rw [List.any_map]
    exact congrArg items.any (funext isNull_eq)
  rw [asDatatypes, asDatatypes, datatypes]

/-- The condition of a list depends on the datatypes of its elements and on which
of them are equal. -/
theorem ofList_eq
    {operator : Operator} {caseInsensitive : Bool} {first second : List Value}
    (datatypes :
      first.map Value.elementType? = second.map Value.elementType?)
    (equalities : Value.equalities first = Value.equalities second) :
    Condition.ofList dialect index column operator caseInsensitive first =
      Condition.ofList dialect index column operator caseInsensitive second := by
  have bound := outline_boundElements datatypes equalities
  have operands :=
    map_eq_map_of_factorsThrough
      (elementPlaceholder_factorsThrough dialect caseInsensitive index) bound
  simp only [Condition.ofList, any_isNull_eq datatypes]
  generalize boundElements first = firstBound at bound operands
  generalize boundElements second = secondBound at bound operands
  cases firstBound with
  | nil =>
      have isEmpty : secondBound = [] := List.map_eq_nil_iff.mp bound.symm
      rw [isEmpty]
  | cons element rest =>
      cases secondBound with
      | nil => cases bound
      | cons other others =>
          obtain ⟨sameElement, sameRest⟩ := List.cons.inj bound
          cases rest with
          | nil =>
              have isLast : others = [] := List.map_eq_nil_iff.mp sameRest.symm
              have sameOperand := (List.cons.inj operands).1
              have sameText : isText element.2 = isText other.2 := by
                rw [isText_eq, isText_eq, (Prod.mk.inj sameElement).2]
              rw [isLast]
              simp only [sameOperand, sameText]
          | cons next more =>
              cases others with
              | nil => cases sameRest
              | cons otherNext otherMore => simp only [operands]

/-- The condition of a filter depends on its shape. -/
theorem ofFilter_factorsThrough
    (dialect : Dialect) (index : Nat) (column : String) :
    Function.FactorsThrough (Condition.ofFilter dialect index column)
      Filter.shape := by
  intro first second same
  obtain ⟨_, sameOperator, sameKind, sameCase⟩ := Filter.Shape.mk.inj same
  simp only [Condition.ofFilter, sameOperator, sameCase]
  generalize first.kind = firstKind at sameKind
  generalize second.kind = secondKind at sameKind
  cases firstKind with
  | inList items =>
      cases secondKind with
      | inList others =>
          obtain ⟨datatypes, equalities⟩ := Kind.Shape.inList.inj sameKind
          exact ofList_eq datatypes equalities
      | _ => cases sameKind
  | _ =>
      cases secondKind <;> cases sameKind
      rfl

/-- So do the names of its parameters. -/
theorem bindingNames_factorsThrough (dialect : Dialect) (index : Nat) :
    Function.FactorsThrough (bindingNames dialect index) Filter.shape := by
  intro first second same
  obtain ⟨_, _, sameKind, _⟩ := Filter.Shape.mk.inj same
  cases isFirst : first.kind with
  | inList items =>
      cases isSecond : second.kind with
      | inList others =>
          rw [isFirst, isSecond] at sameKind
          obtain ⟨datatypes, equalities⟩ := Kind.Shape.inList.inj sameKind
          have bound := outline_boundElements datatypes equalities
          have named :
              Function.FactorsThrough
                (fun element : Nat × Value => elementName index element.1)
                outline := by
            intro element other sameOutline
            exact congrArg (elementName index) (Prod.mk.inj sameOutline).1
          rw [bindingNames_inList isFirst, bindingNames_inList isSecond]
          exact map_eq_map_of_factorsThrough named bound
      | _ =>
          rw [isFirst, isSecond] at sameKind
          cases sameKind
  | _ =>
      rw [isFirst] at sameKind
      cases isSecond : second.kind <;> rw [isSecond] at sameKind <;> cases sameKind
      simp only [bindingNames, bindings, isFirst, isSecond, List.map]

end Filters

/-! ## Queries -/

namespace Fragment

variable {dialect : Dialect} {mapping : Mapping}

/-- A filter under its index, without its value. -/
def entryShape (entry : Nat × Filter) : Nat × Filter.Shape :=
  (entry.1, entry.2.shape)

theorem conditionText_factorsThrough (dialect : Dialect) (mapping : Mapping) :
    Function.FactorsThrough
      (fun entry => (entry.1, conditionText dialect mapping entry)) entryShape := by
  intro first second same
  obtain ⟨sameIndex, sameShape⟩ := Prod.mk.inj same
  have sameKey : first.2.key = second.2.key := congrArg Filter.Shape.key sameShape
  simp only [conditionText, sameIndex, sameKey,
    ofFilter_factorsThrough dialect _ _ sameShape]

theorem bindingNames_factorsThrough_entryShape (dialect : Dialect) :
    Function.FactorsThrough
      (fun entry : Nat × Filter => bindingNames dialect entry.1 entry.2)
      entryShape := by
  intro first second same
  obtain ⟨sameIndex, sameShape⟩ := Prod.mk.inj same
  simp only [sameIndex, bindingNames_factorsThrough dialect _ sameShape]

/-- Only the tree of an expression matters. -/
theorem whereClauseOf_eq
    {conditions : List (Nat × String)} {first second : Option Expression}
    (sameTree : first.map Expression.tree = second.map Expression.tree) :
    whereClauseOf dialect conditions first =
      whereClauseOf dialect conditions second := by
  have sameCombination :
      combineConditions dialect conditions first =
        combineConditions dialect conditions second := by
    cases first with
    | none =>
        cases second with
        | none => rfl
        | some other => cases sameTree
    | some expression =>
        cases second with
        | none => cases sameTree
        | some other =>
            have same : expression.tree = other.tree := Option.some.inj sameTree
            simp only [combineConditions, same]
  simp only [whereClauseOf, sameCombination]

/-- Only the keys and the orders of sorts matter. -/
theorem resolveSorts_eq
    {first second : List SortClause}
    (same :
      (first.map fun clause => (clause.key, clause.order)) =
        second.map fun clause => (clause.key, clause.order)) :
    resolveSorts mapping first = resolveSorts mapping second := by
  induction first generalizing second with
  | nil =>
      have isEmpty : second = [] := List.map_eq_nil_iff.mp same.symm
      rw [isEmpty]
  | cons clause rest inductionHypothesis =>
      cases second with
      | nil => cases same
      | cons other others =>
          obtain ⟨sameClause, sameRest⟩ := List.cons.inj same
          obtain ⟨sameKey, sameOrder⟩ := Prod.mk.inj sameClause
          simp only [resolveSorts, sameKey, sameOrder,
            inductionHypothesis sameRest]

variable {declaration : Declaration} {first second : Query}

/-- Two queries that were read and accepted and that have the same shape have
fragments that differ in the values of the parameters only. -/
theorem values_stay_out_of_text
    (built : declaration.build = .ok mapping)
    {firstInput secondInput : QueryInput}
    (firstParsed : Query.parse firstInput = .ok first)
    (secondParsed : Query.parse secondInput = .ok second)
    (firstValid : mapping.validate first = .ok ())
    (secondValid : mapping.validate second = .ok ())
    (same : first.shape = second.shape) (dialect : Dialect) :
    ∃ firstFragment secondFragment,
      ofQuery dialect mapping first = .ok firstFragment ∧
        ofQuery dialect mapping second = .ok secondFragment ∧
        firstFragment.whereClause = secondFragment.whereClause ∧
        firstFragment.orderBy = secondFragment.orderBy ∧
        firstFragment.parameters.keys = secondFragment.parameters.keys := by
  obtain ⟨sameFilters, sameTree, sameSorts⟩ := Query.Shape.mk.inj same
  have passed := Declaration.passed_of_build built
  have firstKnown := Query.parsed_of_parse firstParsed
  have secondKnown := Query.parsed_of_parse secondParsed
  obtain ⟨firstResolution⟩ :=
    nonempty_resolution passed firstKnown firstValid
  obtain ⟨secondResolution⟩ :=
    nonempty_resolution passed secondKnown secondValid
  have sameConditions :
      firstResolution.conditions dialect = secondResolution.conditions dialect := by
    rw [firstResolution.conditions_eq, secondResolution.conditions_eq]
    exact
      map_eq_map_of_factorsThrough (conditionText_factorsThrough dialect mapping)
        sameFilters
  have sameNames :
      (queryBindings dialect first).map Prod.fst =
        (queryBindings dialect second).map Prod.fst := by
    rw [map_fst_queryBindings, map_fst_queryBindings, List.flatMap_def,
      List.flatMap_def,
      map_eq_map_of_factorsThrough
        (bindingNames_factorsThrough_entryShape dialect) sameFilters]
  have sameFields : firstResolution.fields = secondResolution.fields := by
    have sameClauses :
        (first.sorts.values.map fun clause => (clause.key, clause.order)) =
          second.sorts.values.map fun clause => (clause.key, clause.order) := by
      have pairs := congrArg (List.map Prod.snd) sameSorts
      simpa only [Slots.values, List.map_map, Function.comp_def] using pairs
    have resolved := firstResolution.fieldsResolve
    rw [resolveSorts_eq sameClauses, secondResolution.fieldsResolve] at resolved
    exact (Except.ok.inj resolved).symm
  obtain ⟨whereClause, done⟩ :=
    secondResolution.exists_whereClauseOf_eq_ok secondKnown dialect
  have firstDone :
      whereClauseOf dialect (firstResolution.conditions dialect)
        first.expression = .ok whereClause := by
    rw [sameConditions, whereClauseOf_eq sameTree, done]
  refine
    ⟨firstResolution.fragment dialect whereClause,
      secondResolution.fragment dialect whereClause,
      firstResolution.ofQuery_eq_ok firstValid firstDone,
      secondResolution.ofQuery_eq_ok secondValid done, rfl, sameFields, ?_⟩
  simp only [OrderedMap.keys, Resolution.fragment,
    Resolution.entries_parametersOf, sameNames]

/-- A list with a repeated text. -/
def romansInput : QueryInput :=
  .ofPairs [("filter[]", "city!=[\"Rome\",null,\"Rome\"]")]

/-- The same with a text that looks like the end of a condition. -/
def intrudersInput : QueryInput :=
  .ofPairs [("filter[]", "city!=[\"'))\",null,\"'))\"]")]

/-- The where clause is the same whichever text is looked for. -/
theorem values_stay_out_of_text_romans :
    ∃ mapping first second firstFragment secondFragment,
      residentsDeclaration.build = .ok mapping ∧
        Query.parse romansInput = .ok first ∧
        Query.parse intrudersInput = .ok second ∧
        mapping.validate first = .ok () ∧
        mapping.validate second = .ok () ∧
        first.shape = second.shape ∧
        ofQuery .sqlite mapping first = .ok firstFragment ∧
        ofQuery .sqlite mapping second = .ok secondFragment ∧
        firstFragment.whereClause = secondFragment.whereClause ∧
        firstFragment.orderBy = secondFragment.orderBy ∧
        firstFragment.parameters.keys = secondFragment.parameters.keys := by
  have accepted :
      (residentsDeclaration.build.toOption.bind fun mapping =>
        (Query.parse romansInput).toOption.bind fun first =>
          (Query.parse intrudersInput).toOption.bind fun second =>
            (mapping.validate first).toOption.bind fun _ =>
              (mapping.validate second).toOption) =
        some () := by
    decide +kernel
  have shapes :
      (Query.parse romansInput).toOption.map Query.shape =
        (Query.parse intrudersInput).toOption.map Query.shape := by
    decide +kernel
  obtain ⟨mapping, builds, accepted⟩ := Option.bind_eq_some_iff.mp accepted
  obtain ⟨first, firstParses, accepted⟩ := Option.bind_eq_some_iff.mp accepted
  obtain ⟨second, secondParses, accepted⟩ := Option.bind_eq_some_iff.mp accepted
  obtain ⟨_, firstAccepts, secondAccepts⟩ := Option.bind_eq_some_iff.mp accepted
  have same : first.shape = second.shape := by
    rw [firstParses, secondParses] at shapes
    exact Option.some.inj shapes
  have built := Outcome.eq_ok_of_toOption builds
  have firstParsed := Outcome.eq_ok_of_toOption firstParses
  have secondParsed := Outcome.eq_ok_of_toOption secondParses
  have firstValid := Outcome.eq_ok_of_toOption firstAccepts
  have secondValid := Outcome.eq_ok_of_toOption secondAccepts
  obtain ⟨firstFragment, secondFragment, firstDone, secondDone, sameParts⟩ :=
    values_stay_out_of_text built firstParsed secondParsed firstValid secondValid
      same .sqlite
  exact
    ⟨mapping, first, second, firstFragment, secondFragment, built, firstParsed,
      secondParsed, firstValid, secondValid, same, firstDone, secondDone,
      sameParts⟩

end Fragment

end Sql

end FilterQuery
