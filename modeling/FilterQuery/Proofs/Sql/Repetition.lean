import FilterQuery.Proofs.Sql.Parameters
import Mathlib.Algebra.BigOperators.Group.List.Basic
import Mathlib.Algebra.GroupWithZero.Nat

/-!
# How often a condition is repeated

A dialect without exclusive or writes each of its operands twice, so what stands under several of
them is doubled as many times.

* `Tree.nestings` are the leaves of an expression with the number of exclusive disjunctions above
  them;
* `Clause.total_ofTree`: whatever is counted in the conditions of a clause, the clause of an
  expression has it once for each copy of a leaf;
* `xor_nesting_repeats`: so the nesting determines the number of placeholders.
-/

namespace FilterQuery.Expression.Tree

/-- The index of each leaf with the number of exclusive disjunctions above it, of which those in
`above` are outside the tree. -/
def nestings (above : Nat) : Tree → List (Nat × Nat)
  | .leaf index => [(index, above)]
  | .node operator left right =>
      let inside := if operator = .xor then above + 1 else above
      left.nestings inside ++ right.nestings inside

theorem map_fst_nestings (tree : Tree) (above : Nat) :
    (tree.nestings above).map Prod.fst = tree.leaves := by
  induction tree generalizing above with
  | leaf index => rfl
  | node operator left right leftHypothesis rightHypothesis =>
      rw [nestings, List.map_append, leftHypothesis, rightHypothesis, leaves]

theorem mem_leaves_of_mem_nestings
    {tree : Tree} {above : Nat} {leaf : Nat × Nat} (member : leaf ∈ tree.nestings above) :
    leaf.1 ∈ tree.leaves := by
  rw [← tree.map_fst_nestings above]
  exact List.mem_map_of_mem member

theorem length_filter_nestings (tree : Tree) (above index : Nat) :
    ((tree.nestings above).filter (·.1 = index)).length = tree.leaves.count index := by
  rw [← tree.map_fst_nestings above, List.count, List.countP_map, List.countP_eq_length_filter]
  rfl

end FilterQuery.Expression.Tree

namespace FilterQuery.Sql

open FilterQuery.Expression

/-- How often a dialect writes each operand of an exclusive disjunction. -/
def Dialect.xorCopies (dialect : Dialect) : Nat :=
  match dialect.xorStyle with
  | .operator | .function => 1
  | .expanded => 2

namespace Clause

/-- The sum of the weights of the conditions. -/
def total (weight : String → Nat) (clause : Clause) : Nat :=
  (clause.conditions.map weight).sum

variable {dialect : Dialect} {condition? : Nat → Option String} {weight : String → Nat}

@[simp]
theorem total_negation (operand : Clause) :
    (negation operand).total weight = operand.total weight := rfl

@[simp]
theorem total_operation (operator : LogicalOperator) (left right : Clause) :
    (operation operator left right).total weight = left.total weight + right.total weight := by
  rw [total, conditions, List.map_append, List.sum_append, total, total]

@[simp]
theorem total_xorCall (left right : Clause) :
    (xorCall left right).total weight = left.total weight + right.total weight := by
  rw [total, conditions, List.map_append, List.sum_append, total, total]

/-- Any operation but the expanded one has the conditions of its operands once. -/
theorem total_combine (operator : LogicalOperator) (left right : Clause) :
    (combine dialect operator left right).total weight =
      (if operator = .xor then dialect.xorCopies else 1) *
        (left.total weight + right.total weight) := by
  cases operator with
  | and =>
      rw [if_neg (by decide), Nat.one_mul]
      exact total_operation .and left right
  | or =>
      rw [if_neg (by decide), Nat.one_mul]
      exact total_operation .or left right
  | xor =>
      rw [if_pos rfl]
      cases style : dialect.xorStyle with
      | operator => simp only [combine, Dialect.xorCopies, style, total_operation, Nat.one_mul]
      | function => simp only [combine, Dialect.xorCopies, style, total_xorCall, Nat.one_mul]
      | expanded =>
          simp only [combine, Dialect.xorCopies, style, total_operation, total_negation]
          omega

/-- The clause of an expression has the condition of a leaf once for each choice of copies in the
exclusive disjunctions above the leaf. -/
theorem total_ofTree
    (weight : String → Nat) {tree : Tree} {clause : Clause}
    (built : ofTree dialect condition? tree = .ok clause)
    (above : Nat) :
    ((tree.nestings above).map fun leaf =>
        dialect.xorCopies ^ leaf.2 * (condition? leaf.1).elim 0 weight).sum =
      dialect.xorCopies ^ above * clause.total weight := by
  induction tree generalizing clause above with
  | leaf index =>
      simp only [ofTree] at built
      split at built
      · cases built
      · rename_i text found
        cases built
        simp [Tree.nestings, total, conditions, found]
  | node operator left right leftHypothesis rightHypothesis =>
      simp only [ofTree, bind, Except.bind] at built
      split at built
      · cases built
      · rename_i leftClause leftBuilt
        split at built
        · cases built
        · rename_i rightClause rightBuilt
          cases built
          rw [Tree.nestings, List.map_append, List.sum_append, leftHypothesis leftBuilt,
            rightHypothesis rightBuilt, total_combine, ← Nat.mul_add]
          by_cases isXor : operator = .xor
          · simp only [isXor, if_true, Nat.pow_succ, Nat.mul_assoc]
          · simp only [isXor, if_false, Nat.one_mul]

theorem count_placeholders_text (clause : Clause) (name : String) :
    (placeholders clause.text.toList).count name =
      clause.total fun text => (placeholders text.toList).count name := by
  rw [placeholders_text, List.count_flatMap]
  rfl

end Clause

/-! ## Fragments with one placeholder -/

variable {tree : Tree} {condition? : Nat → Option String}

/-- Each leaf has a condition, whose only placeholder is the one of the leaf's index. -/
def HasOwnPlaceholders (condition? : Nat → Option String) (tree : Tree) : Prop :=
  ∀ index ∈ tree.leaves,
    ∃ text, condition? index = some text ∧ placeholders text.toList = [parameterName index]

theorem parameterName_injective : Function.Injective parameterName := by
  intro first second same
  have isOther : IsNameOf second (parameterName first) := by
    rw [same]
    exact .parameter
  exact IsNameOf.parameter.index_eq isOther

/-- In any dialect, the placeholder of an index stands in the clause once for each copy of the
leaves with that index. -/
theorem HasOwnPlaceholders.exists_clause
    (own : HasOwnPlaceholders condition? tree) (dialect : Dialect) (index : Nat) :
    ∃ clause,
      Clause.ofTree dialect condition? tree = .ok clause ∧
        (placeholders clause.text.toList).count (parameterName index) =
          (((tree.nestings 0).filter (·.1 = index)).map (dialect.xorCopies ^ ·.2)).sum := by
  have areBuilt : ∃ clause, Clause.ofTree dialect condition? tree = .ok clause :=
    Clause.exists_ofTree_eq_ok fun leaf member => (own leaf member).imp fun _ => And.left
  obtain ⟨clause, built⟩ := areBuilt
  refine ⟨clause, built, ?_⟩
  have total :=
    Clause.total_ofTree (fun text => (placeholders text.toList).count (parameterName index))
      built 0
  rw [Nat.pow_zero, Nat.one_mul] at total
  rw [Clause.count_placeholders_text, ← total]
  have weights :
      ∀ leaf ∈ tree.nestings 0,
        dialect.xorCopies ^ leaf.2 *
            (condition? leaf.1).elim 0
              (fun text => (placeholders text.toList).count (parameterName index)) =
          if leaf.1 = index then dialect.xorCopies ^ leaf.2 else 0 := by
    intro leaf member
    obtain ⟨text, found, names⟩ := own leaf.1 (Tree.mem_leaves_of_mem_nestings member)
    rw [found, Option.elim_some, names, List.count_singleton]
    by_cases same : leaf.1 = index
    · simp [same]
    · have different : parameterName leaf.1 ≠ parameterName index :=
        fun equal => same (parameterName_injective equal)
      simp [same, different]
  rw [List.map_congr_left weights, List.sum_map_ite]
  simp

/-- How often the placeholder of an index stands in the clause of an expression: once for each
leaf with that index where exclusive or is an operator or a function, and where it is expanded,
twice for each exclusive disjunction above the leaf. -/
theorem xor_nesting_repeats (own : HasOwnPlaceholders condition? tree) (index : Nat) :
    (∀ dialect ∈ [Dialect.mySql, Dialect.sqlite],
      ∃ clause,
        Clause.ofTree dialect condition? tree = .ok clause ∧
          (placeholders clause.text.toList).count (parameterName index) =
            tree.leaves.count index) ∧
      ∃ clause,
        Clause.ofTree .doctrine condition? tree = .ok clause ∧
          (placeholders clause.text.toList).count (parameterName index) =
            (((tree.nestings 0).filter (·.1 = index)).map (2 ^ ·.2)).sum := by
  have once :
      (((tree.nestings 0).filter (·.1 = index)).map (1 ^ ·.2)).sum = tree.leaves.count index := by
    rw [← tree.length_filter_nestings 0]
    simp only [Nat.one_pow, List.map_const', List.sum_replicate_nat, Nat.mul_one]
  constructor
  · intro dialect member
    obtain ⟨clause, built, counted⟩ := own.exists_clause dialect index
    refine ⟨clause, built, counted.trans ?_⟩
    have copies : dialect.xorCopies = 1 := by
      rcases List.mem_pair.mp member with rfl | rfl <;> rfl
    rw [copies]
    exact once
  · exact own.exists_clause .doctrine index

/-- An expression with one filter under both of its exclusive disjunctions and under one of
them. -/
def parityTree : Tree := .node .xor (.node .xor (.leaf 0) (.leaf 1)) (.leaf 0)

/-- Conditions of the filters of `parityTree`. -/
def parityCondition? : Nat → Option String
  | 0 => some "users.age > :filter_0"
  | 1 => some "LOWER(users.name) = :filter_1"
  | _ => none

/-- The condition under both is written four times, and twice more where it is under one. -/
theorem xor_nesting_repeats_parity :
    HasOwnPlaceholders parityCondition? parityTree ∧
      (∀ dialect ∈ [Dialect.mySql, Dialect.sqlite],
        ∃ clause,
          Clause.ofTree dialect parityCondition? parityTree = .ok clause ∧
            (placeholders clause.text.toList).count "filter_0" = 2) ∧
      ∃ clause,
        Clause.ofTree .doctrine parityCondition? parityTree = .ok clause ∧
          (placeholders clause.text.toList).count "filter_0" = 6 := by
  have own : HasOwnPlaceholders parityCondition? parityTree := by
    have texts :
        ∀ index ∈ parityTree.leaves,
          (parityCondition? index).map (fun text => placeholders text.toList) =
            some [parameterName index] := by
      decide
    intro index member
    exact Option.map_eq_some_iff.mp (texts index member)
  exact ⟨own, xor_nesting_repeats own 0⟩

end FilterQuery.Sql
