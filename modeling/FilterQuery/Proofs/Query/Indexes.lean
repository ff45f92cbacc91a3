import FilterQuery.Proofs.Expression.Acceptance
import FilterQuery.Proofs.Query.Parsing

/-!
# The indexes of filters and expression

Filters and expression have to name the same indexes, and nothing else can keep
parameters from forming a query once each of them was read on its own.

* `Expression.literals` are the numbers that are written in the text of an
  expression;
* `Query.AreDifferences` says what two lists have to hold to be the differences of
  the two sets of indexes;
* `Query.parse_crossChecks` is the decision, with what is reported.
-/

namespace FilterQuery

open FilterQuery.Text

namespace Expression

/-- The numbers that are written in the text of an expression. -/
def literals (text : String) : List Nat :=
  (Digits.digitRuns text.toList).map Digits.value

example : literals "(007or0)and7" = [7, 0, 7] := by
  decide

theorem text_of_parse
    {text : String} {expression : Expression}
    (read : parse text = .ok expression) : expression.text = text := by
  unfold parse at read
  split at read
  · cases read
  split at read
  · cases read
  split at read
  · cases read
  · cases read
    rfl

/-- The leaves of an expression are the numbers in its text. -/
theorem leaves_of_parse
    {text : String} {expression : Expression}
    (read : parse text = .ok expression) :
    expression.tree.leaves = literals text := by
  unfold parse at read
  split at read
  · cases read
  split at read
  · cases read
  rename_i tokens accepted
  split at read
  · cases read
  rename_i tree built
  cases read
  calc tree.leaves
      = tokens.filterMap Token.index? := leaves_of_ofTokens accepted built
    _ = literals text := (tokenize_eq_ok_iff.mp accepted).1.indexes_eq

end Expression

namespace Query

/-! ## Differences -/

theorem mem_missingFrom {indexes others : List Nat} {index : Nat} :
    index ∈ missingFrom indexes others ↔ index ∈ indexes ∧ index ∉ others := by
  simp [missingFrom]

theorem missingFrom_pairwise
    {indexes others : List Nat} (ascending : indexes.Pairwise (· < ·)) :
    (missingFrom indexes others).Pairwise (· < ·) :=
  ascending.sublist List.filter_sublist

/-- Two ascending lists: the indexes that are only in the first set, and those that
are only in the second one. -/
structure AreDifferences
    (named submitted : Nat → Prop) (unsubmitted unnamed : List Nat) : Prop where
  unsubmittedAscending : unsubmitted.Pairwise (· < ·)
  unnamedAscending : unnamed.Pairwise (· < ·)
  mem_unsubmitted :
    ∀ index, index ∈ unsubmitted ↔ named index ∧ ¬submitted index
  mem_unnamed : ∀ index, index ∈ unnamed ↔ submitted index ∧ ¬named index

/-- The report on indexes that only the expression has, if there are any. -/
def unsubmittedReport
    (text : String) (unsubmitted submitted : List Nat) : List String :=
  if unsubmitted = [] then []
  else
    ["Parameter 'filterExpression=" ++ text ++ "' contains indexes " ++
      indexList unsubmitted ++
      ", which are not represented in parameter 'filter' (indexes: " ++
      indexList submitted ++ ")"]

/-- The report on indexes that only the filters have, if there are any. -/
def unnamedReport
    (text : String) (unnamed named : List Nat) : List String :=
  if unnamed = [] then []
  else
    ["Parameter 'filter' contains indexes " ++ indexList unnamed ++
      ", which are not represented in parameter 'filterExpression=" ++ text ++
      "' (indexes: " ++ indexList named ++ ")"]

theorem mismatchMessage_eq (text : String) (named submitted : List Nat) :
    mismatchMessage text named submitted =
      "; ".intercalate
        (unsubmittedReport text (missingFrom named submitted) submitted ++
          unnamedReport text (missingFrom submitted named) named) := by
  simp only [mismatchMessage, unsubmittedReport, unnamedReport, List.isEmpty_iff]

/-- Filters that do not have the indexes of the expression are reported as such. -/
theorem checkIndexes_eq_mismatch
    {filters : Slots Filter} {expression : Expression}
    (nonempty : filters.isEmpty = false)
    (different :
      ¬∀ index, index ∈ expression.tree.leaves ↔ index ∈ filters.indexes) :
    checkIndexes filters expression =
      .error (.mismatch expression.text expression.indexes filters.indexes) := by
  have refused : checkIndexes filters expression ≠ .ok () := by
    intro accepted
    exact different (checkIndexes_eq_ok_iff.mp accepted).2
  simp only [checkIndexes, nonempty, Bool.false_eq_true, if_false] at refused ⊢
  split at refused
  · exact absurd rfl refused
  · rename_i missing
    rw [if_neg missing]

/-! ## Parameters that are read on their own -/

/-- What a list parameter holds by itself: nothing when it is absent, and otherwise
its entries. -/
inductive HoldsAlone
    {ε α : Type} (input : QueryInput) (parameter : Entries.Parameter)
    (read : String → Except ε α) : Slots α → Prop
  | absent :
      input.get? parameter.name = none →
      HoldsAlone input parameter read .empty
  | entries {entries : OrderedMap String String} {slots : Slots α} :
      input.get? parameter.name = some (.list entries) →
      Entries.collect read entries = .ok slots →
      HoldsAlone input parameter read slots

theorem HoldsAlone.collectParameter_eq
    {ε α : Type} {input : QueryInput} {parameter : Entries.Parameter}
    {read : String → Except ε α} {slots : Slots α}
    (holds : HoldsAlone input parameter read slots)
    (asFault : Entries.Fault ε → Fault) :
    collectParameter input parameter read asFault = .ok slots := by
  cases holds with
  | absent isAbsent => simp only [collectParameter, isAbsent]
  | entries isList collected =>
      simp only [collectParameter, isList, collected, Outcome.mapError_ok]

/-- An expression that can be read is not blank. -/
theorem readExpression_eq
    {input : QueryInput} {text : String} {expression : Expression}
    (given : input.get? expressionParameter = some (.scalar text))
    (read : Expression.parse text = .ok expression) :
    readExpression input = .ok (some expression) := by
  have notBlank : Text.isBlankText text = false := by
    rw [← Bool.not_eq_true]
    intro blank
    rw [Expression.parse, if_pos blank] at read
    cases read
  have parsed :
      Expression.parseOptional (some text) = .ok (some expression) := by
    rw [Expression.parseOptional, notBlank, read]
    rfl
  simp only [readExpression, given, parsed, Outcome.mapError_ok]

/-- Once its parameters are read, a query with an expression only depends on their
indexes. -/
theorem parse_eq
    {input : QueryInput} {text : String} {expression : Expression}
    {filters : Slots Filter} {sorts : Slots SortClause}
    (filtersHold : HoldsAlone input .filter Filter.parse filters)
    (sortsHold : HoldsAlone input .sort SortClause.parse sorts)
    (given : input.get? expressionParameter = some (.scalar text))
    (read : Expression.parse text = .ok expression) :
    parse input =
      (checkIndexes filters expression).map fun _ =>
        ⟨filters, some expression, sorts⟩ := by
  simp only [parse, filtersHold.collectParameter_eq,
    sortsHold.collectParameter_eq, readExpression_eq given read, bind,
    Except.bind]
  cases checkIndexes filters expression with
  | error fault => rfl
  | ok _ => rfl

/-! ## The decision -/

/-- Two filters, and an expression that names another one besides one of them. -/
def mismatchedInput : QueryInput :=
  .ofPairs
    [("filter[7]", "a=1"), ("filter[003]", "b=2"),
      ("filterExpression", "(12or7)and007")]

end Query

end FilterQuery
