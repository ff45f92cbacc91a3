import FilterQuery.Proofs.Sql.Parameters
import FilterQuery.Proofs.Sql.Presence

/-!
# Dialects agree

The dialects accept the same queries, name the same parameters, order by the same columns, and
all have a where clause or none (`dialects_agree`).  They bind the same values but for two
cases, which `BindsAlike` lists:

* a pattern that ignores letter case has the flag for it in SQLite and Doctrine, and is left as
  it is in MySQL;
* a truth value in a list is one in Doctrine, and a number in MySQL and SQLite.
-/

namespace FilterQuery.Sql

/-! ## Truth values in lists -/

/-- The item stands at the position, and nowhere before. -/
def StandsFirstAt (item : Value) (position : Nat) (items : List Value) : Prop :=
  ∃ before after,
    items = before ++ item :: after ∧ item ∉ before ∧ before.length = position

section StandsFirstAt

variable {item first : Value} {position : Nat} {rest : List Value}

theorem standsFirstAt_zero_iff :
    StandsFirstAt item 0 (first :: rest) ↔ first = item := by
  constructor
  · rintro ⟨before, after, whole, _, isEmpty⟩
    rw [List.length_eq_zero_iff.mp isEmpty] at whole
    exact (List.cons.inj whole).1
  · rintro rfl
    exact ⟨[], rest, rfl, List.not_mem_nil, rfl⟩

theorem standsFirstAt_succ_iff :
    StandsFirstAt item (position + 1) (first :: rest) ↔
      first ≠ item ∧ StandsFirstAt item position rest := by
  constructor
  · rintro ⟨before, after, whole, isFirst, length⟩
    obtain ⟨head, others, rfl⟩ :=
      List.exists_cons_of_length_pos (l := before) (by omega)
    rw [List.cons_append] at whole
    obtain ⟨rfl, restWhole⟩ := List.cons.inj whole
    rw [List.mem_cons, not_or] at isFirst
    obtain ⟨different, notBefore⟩ := isFirst
    rw [List.length_cons] at length
    exact ⟨Ne.symm different, others, after, restWhole, notBefore, by omega⟩
  · rintro ⟨different, before, after, rfl, notBefore, rfl⟩
    refine ⟨first :: before, after, rfl, ?_, rfl⟩
    rw [List.mem_cons, not_or]
    exact ⟨Ne.symm different, notBefore⟩

end StandsFirstAt

theorem beq_boolean_iff {value : Value} {truth : Bool} :
    (value == .boolean truth) = true ↔ value = .boolean truth := by
  cases value <;> simp [BEq.beq, Value.same]

theorem any_beq_boolean_iff {seen : List Value} {truth : Bool} :
    seen.any (· == .boolean truth) = true ↔ .boolean truth ∈ seen := by
  simp only [List.any_eq_true, beq_boolean_iff, exists_eq_right]

section Kept

variable {start offset : Nat} {seen rest : List Value} {item : Value} {truth : Bool}

/-- The first item is kept unless it was seen before. -/
theorem mem_distinctFrom_start_iff :
    (start, .boolean truth) ∈ distinctFrom start seen (item :: rest) ↔
      .boolean truth ∉ seen ∧ item = .boolean truth := by
  -- Later elements have later positions.
  have notLater :
      ∀ others,
        (start, Value.boolean truth) ∉ distinctFrom (start + 1) others rest := by
    intro others member
    have le := le_position_of_mem_distinctFrom member
    simp only at le
    omega
  rw [distinctFrom]
  by_cases wasSeen : seen.any (· == item) = true
  · rw [if_pos wasSeen]
    apply iff_of_false (notLater seen)
    rintro ⟨unseen, rfl⟩
    exact unseen (any_beq_boolean_iff.mp wasSeen)
  · rw [if_neg wasSeen, List.mem_cons]
    constructor
    · rintro (same | later)
      · obtain rfl : Value.boolean truth = item := (Prod.mk.inj same).2
        exact ⟨mt any_beq_boolean_iff.mpr wasSeen, rfl⟩
      · exact absurd later (notLater _)
    · rintro ⟨_, rfl⟩
      exact .inl rfl

/-- Later items are kept unless they were seen before or are the first item. -/
theorem mem_distinctFrom_later_iff {value : Value} :
    (start + (offset + 1), value) ∈ distinctFrom start seen (item :: rest) ↔
      (start + 1 + offset, value) ∈
        distinctFrom (start + 1)
          (if seen.any (· == item) then seen else item :: seen) rest := by
  have samePosition : start + (offset + 1) = start + 1 + offset := by omega
  rw [distinctFrom, samePosition]
  by_cases wasSeen : seen.any (· == item) = true
  · rw [if_pos wasSeen, if_pos wasSeen]
  · rw [if_neg wasSeen, if_neg wasSeen, List.mem_cons]
    have notFirst : (start + 1 + offset, value) ≠ (start, item) := by
      intro same
      have equalPositions := (Prod.mk.inj same).1
      omega
    exact or_iff_right notFirst

end Kept

/-- A truth value is kept where it first stands. -/
theorem mem_distinctFrom_boolean_iff
    {start offset : Nat} {seen items : List Value} {truth : Bool} :
    (start + offset, .boolean truth) ∈ distinctFrom start seen items ↔
      .boolean truth ∉ seen ∧ StandsFirstAt (.boolean truth) offset items := by
  induction items generalizing start offset seen with
  | nil =>
      apply iff_of_false nofun
      rintro ⟨_, before, after, isEmpty, _, _⟩
      exact absurd isEmpty.symm (by simp)
  | cons item rest inductionHypothesis =>
      cases offset with
      | zero => rw [standsFirstAt_zero_iff, Nat.add_zero, mem_distinctFrom_start_iff]
      | succ offset =>
          rw [standsFirstAt_succ_iff, mem_distinctFrom_later_iff, inductionHypothesis,
            ← and_assoc]
          apply and_congr_left'
          by_cases wasSeen : seen.any (· == item) = true
          · rw [if_pos wasSeen]
            apply (and_iff_left_of_imp _).symm
            rintro unseen rfl
            exact unseen (any_beq_boolean_iff.mp wasSeen)
          · rw [if_neg wasSeen, List.mem_cons, not_or]
            rw [and_comm, ne_comm]

theorem mem_boundElements_boolean_iff
    {position : Nat} {items : List Value} {truth : Bool} :
    (position, .boolean truth) ∈ boundElements items ↔
      StandsFirstAt (.boolean truth) position items := by
  have kept := @mem_distinctFrom_boolean_iff 0 position [] items truth
  rw [Nat.zero_add] at kept
  rw [boundElements, distinctElements, List.mem_filter, kept]
  constructor
  · rintro ⟨⟨_, standsFirst⟩, _⟩
    exact standsFirst
  · intro standsFirst
    exact ⟨⟨List.not_mem_nil, standsFirst⟩, rfl⟩

/-! ## Values of one filter -/

section Filters

variable {index : Nat} {filter : Filter} {name : String}

/-- The parameter is a pattern that ignores letter case. -/
def IsCaselessPattern
    (index : Nat) (filter : Filter) (name pattern : String) : Prop :=
  filter.kind = .regexp pattern ∧
    filter.caseInsensitive = true ∧ name = parameterName index

/-- The parameter is a truth value in a list. -/
def IsTruthElement
    (index : Nat) (filter : Filter) (name : String) (truth : Bool) : Prop :=
  ∃ items position,
    filter.kind = .inList items ∧
      StandsFirstAt (.boolean truth) position items ∧
      name = elementName index position

theorem mem_bindings_of_isCaselessPattern
    {pattern : String} (isPattern : IsCaselessPattern index filter name pattern)
    (dialect : Dialect) :
    (name, .string (dialect.regexpValue pattern true)) ∈
      bindings dialect index filter := by
  obtain ⟨isKind, ignoresCase, rfl⟩ := isPattern
  simp only [bindings, isKind, ignoresCase, List.mem_singleton]

theorem mem_bindings_of_isTruthElement
    {truth : Bool} (isElement : IsTruthElement index filter name truth)
    (dialect : Dialect) :
    (name, dialect.booleanElement truth) ∈ bindings dialect index filter := by
  obtain ⟨items, position, isKind, standsFirst, rfl⟩ := isElement
  simp only [bindings, isKind]
  have isBound := mem_boundElements_boolean_iff.mpr standsFirst
  exact List.mem_map.mpr ⟨_, isBound, rfl⟩

/-- Only patterns and truth values depend on the dialect. -/
theorem mem_bindings_of_mem_bindings
    {first second : Dialect} {value : Value}
    (notPattern : ∀ pattern, ¬IsCaselessPattern index filter name pattern)
    (notTruth : ∀ truth, ¬IsTruthElement index filter name truth)
    (member : (name, value) ∈ bindings first index filter) :
    (name, value) ∈ bindings second index filter := by
  cases isKind : filter.kind with
  | regexp pattern =>
      simp only [bindings, isKind, List.mem_singleton] at member ⊢
      obtain ⟨rfl, rfl⟩ := Prod.mk.inj member
      have keepsCase : filter.caseInsensitive = false := by
        rw [← Bool.not_eq_true]
        intro ignoresCase
        exact notPattern pattern ⟨isKind, ignoresCase, rfl⟩
      rw [keepsCase]
      cases first <;> cases second <;> rfl
  | inList items =>
      simp only [bindings, isKind, List.mem_map] at member ⊢
      obtain ⟨⟨position, item⟩, isBound, same⟩ := member
      obtain ⟨rfl, rfl⟩ := Prod.mk.inj same
      refine ⟨(position, item), isBound, ?_⟩
      cases item with
      | boolean truth =>
          have standsFirst := mem_boundElements_boolean_iff.mp isBound
          exact absurd ⟨items, position, isKind, standsFirst, rfl⟩ (notTruth truth)
      | null | integer _ | float _ | string _ | list _ => rfl
  | null | boolean _ | integer _ | float _ | string _ | like _ =>
      simp only [bindings, isKind] at member ⊢
      exact member

theorem bindingNames_eq (first second : Dialect) (index : Nat) (filter : Filter) :
    bindingNames first index filter = bindingNames second index filter := by
  cases isKind : filter.kind with
  | inList items => rw [bindingNames_inList isKind, bindingNames_inList isKind]
  | null | boolean _ | integer _ | float _ | string _ | like _ | regexp _ =>
      simp only [bindingNames, bindings, isKind, List.map]

end Filters

/-! ## Values of a query -/

namespace Fragment

/-- How the values that the dialects bind compare with each other. -/
structure BindsAlike
    (query : Query) (bound : Dialect → String → Option Value) : Prop where
  pattern :
    ∀ entry ∈ query.filters.entries, ∀ name pattern,
      IsCaselessPattern entry.1 entry.2 name pattern →
        bound .mySql name = some (.string pattern) ∧
          bound .sqlite name = some (.string ("(?i)" ++ pattern)) ∧
          bound .doctrine name = some (.string ("(?i)" ++ pattern))
  truth :
    ∀ entry ∈ query.filters.entries, ∀ name truth,
      IsTruthElement entry.1 entry.2 name truth →
        bound .mySql name = some (.integer (if truth then 1 else 0)) ∧
          bound .sqlite name = some (.integer (if truth then 1 else 0)) ∧
          bound .doctrine name = some (.boolean truth)
  others :
    ∀ name,
      (∀ entry ∈ query.filters.entries, ∀ pattern,
        ¬IsCaselessPattern entry.1 entry.2 name pattern) →
      (∀ entry ∈ query.filters.entries, ∀ truth,
        ¬IsTruthElement entry.1 entry.2 name truth) →
      ∀ first second, bound first name = bound second name

variable {declaration : Declaration} {mapping : Mapping} {query : Query}

theorem bindsAlike_of_mem_iff
    {bound : Dialect → String → Option Value}
    (isBound :
      ∀ dialect name value,
        bound dialect name = some value ↔
          (name, value) ∈ queryBindings dialect query) :
    BindsAlike query bound := by
  have isBoundOf :
      ∀ entry ∈ query.filters.entries, ∀ dialect name value,
        (name, value) ∈ bindings dialect entry.1 entry.2 →
          bound dialect name = some value := by
    intro entry member dialect name value isBinding
    rw [isBound, queryBindings, List.mem_flatMap]
    exact ⟨entry, member, isBinding⟩
  refine ⟨?_, ?_, ?_⟩
  · intro entry member name pattern isPattern
    have binds := mem_bindings_of_isCaselessPattern isPattern
    exact
      ⟨isBoundOf entry member .mySql _ _ (binds _),
        isBoundOf entry member .sqlite _ _ (binds _),
        isBoundOf entry member .doctrine _ _ (binds _)⟩
  · intro entry member name truth isElement
    have binds := mem_bindings_of_isTruthElement isElement
    exact
      ⟨isBoundOf entry member .mySql _ _ (binds _),
        isBoundOf entry member .sqlite _ _ (binds _),
        isBoundOf entry member .doctrine _ _ (binds _)⟩
  · intro name notPattern notTruth first second
    have carries :
        ∀ source target value,
          (name, value) ∈ queryBindings source query →
            (name, value) ∈ queryBindings target query := by
      intro source target value member
      obtain ⟨entry, isEntry, isBinding⟩ := List.mem_flatMap.mp member
      apply List.mem_flatMap.mpr
      refine ⟨entry, isEntry, ?_⟩
      exact
        mem_bindings_of_mem_bindings (notPattern entry isEntry)
          (notTruth entry isEntry) isBinding
    apply Option.ext
    intro value
    rw [isBound, isBound]
    exact ⟨carries first second value, carries second first value⟩

/-- The parameters have the same names in all dialects. -/
theorem Resolution.keys_parametersOf_eq
    (resolution : Resolution mapping query) (first second : Dialect) :
    (parametersOf first resolution.filters).keys =
      (parametersOf second resolution.filters).keys := by
  have sameNames :
      (queryBindings first query).map Prod.fst =
        (queryBindings second query).map Prod.fst := by
    simp only [map_fst_queryBindings, bindingNames_eq first second]
  rw [OrderedMap.keys, OrderedMap.keys, resolution.entries_parametersOf,
    resolution.entries_parametersOf, sameNames]

/-- A query that was read fails alike in all dialects, or has a fragment in each of them.  The
fragments have the same names of parameters in the same order and the same columns to order by,
all or none of them have a where clause, and their values are those of `BindsAlike`. -/
theorem dialects_agree
    (built : declaration.build = .ok mapping)
    {input : QueryInput} (parsed : Query.parse input = .ok query) :
    (∃ fault, ∀ dialect, ofQuery dialect mapping query = .error fault) ∨
      ∃ fragment : Dialect → Fragment,
        (∀ dialect, ofQuery dialect mapping query = .ok (fragment dialect)) ∧
          (∀ first second,
            (fragment first).parameters.keys = (fragment second).parameters.keys ∧
              (fragment first).orderBy = (fragment second).orderBy ∧
              ((fragment first).whereClause = none ↔
                (fragment second).whereClause = none)) ∧
          BindsAlike query fun dialect => (fragment dialect).parameters.get? := by
  have passed := Declaration.passed_of_build built
  have known := Query.parsed_of_parse parsed
  cases outcome : mapping.validate query with
  | error denial =>
      left
      refine ⟨.denied denial, ?_⟩
      intro dialect
      exact (ofQuery_eq_error_iff passed known).mpr ⟨denial, outcome, rfl⟩
  | ok _ =>
      right
      obtain ⟨resolution⟩ := nonempty_resolution passed known outcome
      have combines :
          ∀ dialect,
            ∃ whereClause,
              whereClauseOf dialect (resolution.conditions dialect) query.expression =
                .ok whereClause :=
        resolution.exists_whereClauseOf_eq_ok known
      choose whereClause combined using combines
      have done :
          ∀ dialect,
            ofQuery dialect mapping query =
              .ok (resolution.fragment dialect (whereClause dialect)) :=
        fun dialect => resolution.ofQuery_eq_ok outcome (combined dialect)
      refine
        ⟨fun dialect => resolution.fragment dialect (whereClause dialect), done, ?_, ?_⟩
      · intro first second
        have isNone_iff :
            ∀ dialect,
              (resolution.fragment dialect (whereClause dialect)).whereClause = none ↔
                query.filters.entries = [] := by
          intro dialect
          have covers := covers_of_ofQuery passed known outcome (done dialect)
          exact covers.whereClause_eq_none_iff known
        exact
          ⟨resolution.keys_parametersOf_eq first second, rfl,
            (isNone_iff first).trans (isNone_iff second).symm⟩
      · apply bindsAlike_of_mem_iff
        intro dialect name value
        rw [← resolution.entries_parametersOf]
        exact OrderedMap.get?_eq_some_iff

/-- A declaration that allows to look for a pattern and for several values. -/
def membersDeclaration : Declaration :=
  (Declaration.relate {} "name" "users.name")
    |>.relate "active" "users.active"
    |>.allowFilter { key := "name", filterType := .regexp }
    |>.allowFilter { key := "active", filterType := .inList }
    |>.allowSort "name"

/-- A pattern that ignores letter case, and a list with a repeated truth value. -/
def membersInput : QueryInput :=
  .ofPairs
    [("filter[]", "name=/^a/i"), ("filter[]", "active=[true,null,true,\"yes\"]"),
      ("sort[]", "-name")]

/-- The text that a fragment binds to a parameter. -/
def boundText? (fragment : Fragment) (name : String) : Option String :=
  (fragment.parameters.get? name).bind Value.string?

theorem dialects_agree_members :
    ∃ mapping query, ∃ fragment : Dialect → Fragment,
      membersDeclaration.build = .ok mapping ∧
        Query.parse membersInput = .ok query ∧
        (∀ dialect, ofQuery dialect mapping query = .ok (fragment dialect)) ∧
        (∀ dialect,
          (fragment dialect).parameters.keys =
            ["filter_0", "filter_1_0", "filter_1_3"]) ∧
        (fragment .mySql).boundText? "filter_0" = some "^a" ∧
        (fragment .sqlite).boundText? "filter_0" = some "(?i)^a" ∧
        BindsAlike query fun dialect => (fragment dialect).parameters.get? := by
  have computed :
      ∀ dialect,
        (membersDeclaration.build.toOption.bind fun mapping =>
          (Query.parse membersInput).toOption.bind fun query =>
            (ofQuery dialect mapping query).toOption.bind fun fragment =>
              some (fragment.parameters.keys, fragment.boundText? "filter_0")) =
          some
            (["filter_0", "filter_1_0", "filter_1_3"],
              some (dialect.regexpValue "^a" true)) := by
    intro dialect
    cases dialect <;> decide +kernel
  obtain ⟨mapping, builds, ofMapping⟩ := Option.bind_eq_some_iff.mp (computed .mySql)
  obtain ⟨query, parses, _⟩ := Option.bind_eq_some_iff.mp ofMapping
  have built := Outcome.eq_ok_of_toOption builds
  have parsed := Outcome.eq_ok_of_toOption parses
  simp only [builds, parses, Option.bind_some] at computed
  rcases dialects_agree built parsed with ⟨fault, fails⟩ | ⟨fragment, done, _, alike⟩
  · have noFragment := computed .mySql
    rw [fails] at noFragment
    cases noFragment
  · have parts :
        ∀ dialect,
          (fragment dialect).parameters.keys =
              ["filter_0", "filter_1_0", "filter_1_3"] ∧
            (fragment dialect).boundText? "filter_0" =
              some (dialect.regexpValue "^a" true) := by
      intro dialect
      have both := computed dialect
      rw [done] at both
      exact Prod.mk.inj (Option.some.inj both)
    exact
      ⟨mapping, query, fragment, built, parsed, done, fun dialect => (parts dialect).1,
        (parts .mySql).2, (parts .sqlite).2, alike⟩

end Fragment

end FilterQuery.Sql
